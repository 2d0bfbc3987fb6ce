import Modbus.Proofs.Refusals

/-!
# Requests that do the work of several

A request to write several values looks up all their cells before it writes the
first of them, and between its writes observers may write cells that are written
again later, or read at the end.  Nothing that they do moves a cell.  So one
request for each value, in ascending order, finds the same cells and makes the same
writes, and an image cannot tell which of both has happened to it.
-/

namespace Modbus

/-- Something for each value, at references that follow one another. -/
def successive {α β : Type} (make : UInt16 → α → β) (reference : Nat) : List α → List β
  | [] => []
  | value :: values => make (.ofNat reference) value :: successive make (reference + 1) values

/-- A range that is found is found cell by cell. -/
theorem Table.mapM_get_of_range {α : Type} {table : Table α} {offset count : Nat} {cells : List α}
    (hrange : table.range offset count = .ok cells) :
    (List.range' offset count).mapM table.get = .ok cells := by
  unfold Table.range at hrange
  split at hrange
  next => contradiction
  next => exact hrange

/-- What was looked up goes on, and the rest decides. -/
theorem Access.resolve_bind_eq_ok_iff {α β : Type} {find : Image → Except AddressFault α}
    {next : α → Access β} {image after : Image} {result : β} :
    (resolve find >>= next) image = (.ok result, after) ↔
      ∃ found, find image = .ok found ∧ next found image = (.ok result, after) := by
  have hresolve := yields_resolve find image
  cases hfind : find image with
  | ok found =>
      rw [hfind] at hresolve
      rw [stateful_bind_ok hresolve]
      simp
  | error fault =>
      rw [hfind] at hresolve
      obtain ⟨fault, hfault⟩ := hresolve
      rw [stateful_bind_error hfault]
      constructor
      · intro hok
        have hfailed := (Prod.mk.inj hok).1
        contradiction
      · rintro ⟨found, hfound, -⟩
        contradiction

/-- What is done with what was found cannot be refused any more. -/
theorem Access.resolve_then_eq_ok_iff {α β : Type} {find : Image → Except AddressFault α}
    {next : α → Access β} {image after : Image} {result : β} {say : α → β} {leave : α → Image}
    (hnext : ∀ found, next found image = (.ok (say found), leave found)) :
    (resolve find >>= next) image = (.ok result, after) ↔
      ∃ found, find image = .ok found ∧ say found = result ∧ leave found = after := by
  rw [resolve_bind_eq_ok_iff]
  refine exists_congr fun found => and_congr_right fun _ => ?_
  rw [hnext, Prod.mk.injEq, Except.ok.injEq]

namespace Image

/-- Requests that are applied one after another, with what comes of each. -/
def applyAll (image : Image) : List Request → List (Except Error Response) × Image
  | [] => ([], image)
  | request :: requests =>
    let (outcome, image) := image.apply request
    let (outcomes, image) := image.applyAll requests
    (outcome :: outcomes, image)

section

variable {image after : Image} {reference : UInt16} {response : Response}

theorem apply_writeSingleCoil_eq_ok_iff {value : Bool} :
    image.apply (.writeSingleCoil reference value) = (.ok response, after) ↔
      ∃ cell, image.coils.get reference.toNat = .ok cell ∧
        .writeSingleCoil reference value = response ∧ image.setBit cell value = after :=
  Access.resolve_then_eq_ok_iff fun _ => rfl

theorem apply_writeSingleRegister_eq_ok_iff {value : UInt16} :
    image.apply (.writeSingleRegister reference value) = (.ok response, after) ↔
      ∃ cell, image.holdingRegisters.get reference.toNat = .ok cell ∧
        .writeSingleRegister reference value = response ∧ image.write cell value = after :=
  Access.resolve_then_eq_ok_iff fun _ => rfl

theorem apply_writeMultipleCoils_eq_ok_iff {values : List Bool} :
    image.apply (.writeMultipleCoils reference values) = (.ok response, after) ↔
      ∃ cells, image.coils.range reference.toNat values.length = .ok cells ∧
        .writeMultipleCoils reference (.ofNat values.length) = response ∧
        image.setBits cells values = after :=
  Access.resolve_then_eq_ok_iff fun _ => rfl

theorem apply_writeMultipleRegisters_eq_ok_iff {values : List UInt16} :
    image.apply (.writeMultipleRegisters reference values) = (.ok response, after) ↔
      ∃ cells, image.holdingRegisters.range reference.toNat values.length = .ok cells ∧
        .writeMultipleRegisters reference (.ofNat values.length) = response ∧
        image.writeAll cells values = after :=
  Access.resolve_then_eq_ok_iff fun _ => rfl

theorem apply_readHoldingRegisters_eq_ok_iff {count : UInt16} :
    image.apply (.readHoldingRegisters reference count) = (.ok response, after) ↔
      ∃ cells, image.holdingRegisters.range reference.toNat count.toNat = .ok cells ∧
        .readHoldingRegisters (cells.map image.value) = response ∧ image = after :=
  Access.resolve_then_eq_ok_iff fun _ => rfl

theorem apply_readWriteMultipleRegisters_eq_ok_iff {readReference readCount : UInt16}
    {values : List UInt16} :
    image.apply (.readWriteMultipleRegisters readReference readCount reference values) =
        (.ok response, after) ↔
      ∃ targets, image.holdingRegisters.range reference.toNat values.length = .ok targets ∧
        ∃ cells, image.holdingRegisters.range readReference.toNat readCount.toNat = .ok cells ∧
          .readWriteMultipleRegisters (cells.map (image.writeAll targets values).value) = response ∧
          image.writeAll targets values = after :=
  Access.resolve_bind_eq_ok_iff.trans <| exists_congr fun _ => and_congr_right fun _ =>
    Access.resolve_then_eq_ok_iff fun _ => rfl

end

/-! ## One value after another -/

/-- The cells were found before the first write; what has been written by the time of another
write has moved none of them. -/
theorem applyAll_successive {α : Type} (kind : TableKind) (single : UInt16 → α → Request)
    (echo : UInt16 → α → Response) (put : Image → Nat → α → Image)
    (hsingle : ∀ {image : Image} {reference value cell},
      (image.table kind).get reference.toNat = .ok cell →
        image.apply (single reference value) = (.ok (echo reference value), put image cell value))
    (hput : ∀ image cell value, SameLayout image (put image cell value))
    {image : Image} {reference : Nat} {values : List α} {cells : List Nat}
    (hbound : reference + values.length ≤ 65536)
    (hcells : (List.range' reference values.length).mapM (image.table kind).get = .ok cells) :
    image.applyAll (successive single reference values) =
      (successive (fun reference value => .ok (echo reference value)) reference values,
        (cells.zip values).foldl (fun image (cell, value) => put image cell value) image) := by
  induction values generalizing image reference cells with
  | nil =>
      obtain rfl : [] = cells := Except.ok.inj hcells
      rfl
  | cons value values ih =>
      rw [List.length_cons] at hbound hcells
      rw [List.range'_succ, List.mapM_cons, except_bind_eq_ok_iff] at hcells
      obtain ⟨cell, hcell, hothers⟩ := hcells
      obtain ⟨others, hrest, hsame⟩ := except_bind_eq_ok_iff.mp hothers
      obtain rfl : cell :: others = cells := Except.ok.inj hsame
      have hsmall : reference < UInt16.size := by
        show reference < 65536
        omega
      have hreference : (UInt16.ofNat reference).toNat = reference :=
        UInt16.toNat_ofNat_of_lt' hsmall
      have hfirst : image.apply (single (.ofNat reference) value) =
          (.ok (echo (.ofNat reference) value), put image cell value) :=
        hsingle (hreference.symm ▸ hcell)
      have hlast : (put image cell value).applyAll (successive single (reference + 1) values) = _ :=
        ih (by omega) ((hput image cell value).tables kind ▸ hrest)
      rw [successive, applyAll, hfirst]
      dsimp only
      rw [hlast]
      rfl

theorem applyAll_writeSingleCoil {image : Image} {reference : UInt16} {values : List Bool}
    {cells : List Nat} (hbound : reference.toNat + values.length ≤ 65536)
    (hcells : image.coils.range reference.toNat values.length = .ok cells) :
    image.applyAll (successive .writeSingleCoil reference.toNat values) =
      (successive (fun reference value => .ok (.writeSingleCoil reference value))
        reference.toNat values, image.setBits cells values) :=
  applyAll_successive .coil .writeSingleCoil .writeSingleCoil setBit
    (fun hcell => apply_writeSingleCoil_eq_ok_iff.mpr ⟨_, hcell, rfl, rfl⟩)
    sameLayout_setBit hbound (Table.mapM_get_of_range hcells)

theorem applyAll_writeSingleRegister {image : Image} {reference : UInt16} {values : List UInt16}
    {cells : List Nat} (hbound : reference.toNat + values.length ≤ 65536)
    (hcells : image.holdingRegisters.range reference.toNat values.length = .ok cells) :
    image.applyAll (successive .writeSingleRegister reference.toNat values) =
      (successive (fun reference value => .ok (.writeSingleRegister reference value))
        reference.toNat values, image.writeAll cells values) :=
  applyAll_successive .holdingRegister .writeSingleRegister .writeSingleRegister write
    (fun hcell => apply_writeSingleRegister_eq_ok_iff.mpr ⟨_, hcell, rfl, rfl⟩)
    sameLayout_write hbound (Table.mapM_get_of_range hcells)

/-! ## Writing and reading at once -/

/-- To write registers and read some is to write them and then to read. -/
theorem apply_readWriteMultipleRegisters_iff {image after : Image} {response : Response}
    {readReference readCount writeReference : UInt16} {values : List UInt16} :
    image.apply (.readWriteMultipleRegisters readReference readCount writeReference values) =
        (.ok response, after) ↔
      ∃ written between found,
        image.apply (.writeMultipleRegisters writeReference values) = (.ok written, between) ∧
        between.apply (.readHoldingRegisters readReference readCount) =
          (.ok (.readHoldingRegisters found), after) ∧
        response = .readWriteMultipleRegisters found := by
  have htable (targets : List Nat) :
      (image.writeAll targets values).holdingRegisters = image.holdingRegisters :=
    (sameLayout_writeAll image targets values).tables .holdingRegister
  simp only [apply_readWriteMultipleRegisters_eq_ok_iff, apply_writeMultipleRegisters_eq_ok_iff,
    apply_readHoldingRegisters_eq_ok_iff]
  constructor
  · rintro ⟨targets, htargets, cells, hcells, rfl, rfl⟩
    exact ⟨_, _, _, ⟨targets, htargets, rfl, rfl⟩, ⟨cells, htable targets ▸ hcells, rfl, rfl⟩, rfl⟩
  · rintro ⟨_, _, found, ⟨targets, htargets, rfl, rfl⟩, ⟨cells, hcells, hfound, rfl⟩, rfl⟩
    rw [htable] at hcells
    obtain rfl := Response.readHoldingRegisters.inj hfound
    exact ⟨targets, htargets, cells, hcells, rfl, rfl⟩

/-- It goes through if no offset of either range is vacant. -/
theorem apply_readWriteMultipleRegisters_of_populated (image : Image)
    {readReference readCount writeReference : UInt16} {values : List UInt16}
    (hread : 1 ≤ readCount.toNat) (hwrite : 1 ≤ values.length)
    (hreads : ¬image.holdingRegisters.Breaks readReference.toNat readCount.toNat)
    (hwrites : ¬image.holdingRegisters.Breaks writeReference.toNat values.length) :
    ∃ response after,
      image.apply (.readWriteMultipleRegisters readReference readCount writeReference values) =
        (.ok response, after) := by
  let request := Request.readWriteMultipleRegisters readReference readCount writeReference values
  have hcounted : request.Counted := ⟨hread, hwrite⟩
  have hyields := Request.apply_yields_of_counted hcounted rfl image
  cases hperform : image.perform request with
  | none =>
      have hmisses : request.Misses image := (image.perform_eq_none_iff rfl).mp hperform
      exact (hmisses.elim hreads hwrites).elim
  | some outcome =>
      rw [hperform] at hyields
      exact ⟨_, _, hyields⟩

/-- A request that does the work of several leaves the image that they leave: the same values,
and the same calls of observers in the same order.  To write several registers or coils is to
write one after another; to write registers and read some is to write them and then to read,
and it goes through if no offset of the two ranges is vacant. -/
theorem apply_compound (image : Image) :
    (∀ reference values response after, UInt16.toNat reference + values.length ≤ 65536 →
      image.apply (.writeMultipleRegisters reference values) = (.ok response, after) →
      image.applyAll (successive .writeSingleRegister reference.toNat values) =
        (successive (fun reference value => .ok (.writeSingleRegister reference value))
          reference.toNat values, after)) ∧
    (∀ reference values response after, UInt16.toNat reference + values.length ≤ 65536 →
      image.apply (.writeMultipleCoils reference values) = (.ok response, after) →
      image.applyAll (successive .writeSingleCoil reference.toNat values) =
        (successive (fun reference value => .ok (.writeSingleCoil reference value))
          reference.toNat values, after)) ∧
    (∀ readReference readCount writeReference values response after,
      image.apply (.readWriteMultipleRegisters readReference readCount writeReference values) =
          (.ok response, after) ↔
        ∃ written between found,
          image.apply (.writeMultipleRegisters writeReference values) = (.ok written, between) ∧
          between.apply (.readHoldingRegisters readReference readCount) =
            (.ok (.readHoldingRegisters found), after) ∧
          response = .readWriteMultipleRegisters found) ∧
    ∀ readReference readCount writeReference values,
      1 ≤ UInt16.toNat readCount → 1 ≤ values.length →
      ¬image.holdingRegisters.Breaks (UInt16.toNat readReference) readCount.toNat →
      ¬image.holdingRegisters.Breaks (UInt16.toNat writeReference) values.length →
      ∃ response after,
        image.apply (.readWriteMultipleRegisters readReference readCount writeReference values) =
          (.ok response, after) := by
  refine ⟨fun reference values response after hbound happly => ?_,
    fun reference values response after hbound happly => ?_,
    fun _ _ _ _ _ _ => apply_readWriteMultipleRegisters_iff,
    fun readReference readCount writeReference values hread hwrite hreads hwrites => ?_⟩
  · obtain ⟨cells, hcells, -, rfl⟩ := apply_writeMultipleRegisters_eq_ok_iff.mp happly
    exact applyAll_writeSingleRegister hbound hcells
  · obtain ⟨cells, hcells, -, rfl⟩ := apply_writeMultipleCoils_eq_ok_iff.mp happly
    exact applyAll_writeSingleCoil hbound hcells
  · exact image.apply_readWriteMultipleRegisters_of_populated hread hwrite hreads hwrites

/-- One cell stands at two offsets, and an observer writes the register in between, which is
written after that as well. -/
theorem apply_compound_aliased :
    let image : Image :=
      { empty 1 with
        holdingRegisters := ⟨.holdingRegister, #[some 0, some 1, some 0]⟩
        registers := #[⟨0, [0]⟩, ⟨0, []⟩]
        observers := #[(⟨fun seen => [(1, seen + 1)]⟩ : Observer).watcher] }
    ∃ after,
      image.apply (.writeMultipleRegisters 0 [5, 6, 7]) =
        (.ok (.writeMultipleRegisters 0 3), after) ∧
      image.applyAll (successive .writeSingleRegister 0 [5, 6, 7]) =
        ([.ok (.writeSingleRegister 0 5), .ok (.writeSingleRegister 1 6),
          .ok (.writeSingleRegister 2 7)], after) ∧
      after.valueRow .holdingRegister = [some 7, some 8, some 7] ∧
      after.notices.toList = [⟨0, 5⟩, ⟨0, 7⟩] ∧
      image.apply (.readWriteMultipleRegisters 0 3 0 [5, 6, 7]) =
        (.ok (.readWriteMultipleRegisters [7, 8, 7]), after) := by
  intro image
  obtain ⟨hregisters, -, hexchange, -⟩ := image.apply_compound
  have hdone : (image.apply (.writeMultipleRegisters 0 [5, 6, 7])).1 =
      .ok (.writeMultipleRegisters 0 3) := by
    decide +kernel
  have hvalues : (image.apply (.writeMultipleRegisters 0 [5, 6, 7])).2.valueRow
      .holdingRegister = [some 7, some 8, some 7] := by
    decide +kernel
  have hnotices : (image.apply (.writeMultipleRegisters 0 [5, 6, 7])).2.notices.toList =
      [⟨0, 5⟩, ⟨0, 7⟩] := by
    decide +kernel
  have hread : ((image.apply (.writeMultipleRegisters 0 [5, 6, 7])).2.apply
      (.readHoldingRegisters 0 3)).1 = .ok (.readHoldingRegisters [7, 8, 7]) := by
    decide +kernel
  generalize houtcome : image.apply (.writeMultipleRegisters 0 [5, 6, 7]) = outcome at *
  obtain ⟨outcome, after⟩ := outcome
  obtain rfl : outcome = .ok (.writeMultipleRegisters 0 3) := hdone
  refine ⟨after, rfl, hregisters 0 [5, 6, 7] _ after (by decide) houtcome, hvalues, hnotices, ?_⟩
  cases hfound : after.apply (.readHoldingRegisters 0 3) with
  | mk found final =>
      rw [hfound] at hread
      obtain rfl : found = .ok (.readHoldingRegisters [7, 8, 7]) := hread
      obtain ⟨-, -, -, rfl⟩ := apply_readHoldingRegisters_eq_ok_iff.mp hfound
      exact (hexchange 0 3 0 [5, 6, 7] _ after).mpr ⟨_, after, _, houtcome, hfound, rfl⟩

end Image

end Modbus
