import Mathlib.Data.Finmap
import Mathlib.Data.List.TakeWhile
import Mathlib.Tactic
import Modbus.Proofs.PlainImages

/-!
# Tables as finite maps

A table stores its cells in a row, gaps among them, and it never ends in a gap.  Whatever is added,
put at an offset or taken away, the table answers as the finite map from offsets to cells does
to which the same is done.  The trimmed end is what makes its size the one of the map.
-/

namespace Modbus

/-- Something that is done to a table. -/
inductive TableChange (α : Type) where
  | add (cell : α)
  | set (offset : Nat) (cell : α)
  | remove (offset : Nat)

/-- What comes of it: the offset at which a cell was added, or the cell that was taken away, if
there was one. -/
inductive TableOutcome (α : Type) where
  | added (offset : Nat)
  | placed
  | removed (cell : Option α)

/-- Cells by offset. -/
abbrev CellMap (α : Type) : Type := Finmap fun _ : Nat => α

namespace CellMap

variable {α : Type}

/-- One more than the largest offset with a cell, or zero if there is none. -/
def size (map : CellMap α) : Nat := map.keys.sup Nat.succ

def changed (map : CellMap α) : TableChange α → TableOutcome α × CellMap α
  | .add cell => (.added map.size, map.insert map.size cell)
  | .set offset cell => (.placed, map.insert offset cell)
  | .remove offset => (.removed (map.lookup offset), map.erase offset)

def changedAll (map : CellMap α) : List (TableChange α) → List (TableOutcome α) × CellMap α
  | [] => ([], map)
  | change :: changes =>
    let (outcome, map) := map.changed change
    let (outcomes, map) := changedAll map changes
    (outcome :: outcomes, map)

end CellMap

namespace Table

variable {α : Type}

def changed (table : Table α) : TableChange α → TableOutcome α × Table α
  | .add cell => (.added ((table.add cell).size - 1), table.add cell)
  | .set offset cell => (.placed, table.set offset cell)
  | .remove offset => (.removed (table.get? offset), table.remove offset)

def changedAll (table : Table α) : List (TableChange α) → List (TableOutcome α) × Table α
  | [] => ([], table)
  | change :: changes =>
    let (outcome, table) := table.changed change
    let (outcomes, table) := changedAll table changes
    (outcome :: outcomes, table)

/-- A table is empty or ends in a cell. -/
def Trimmed (table : Table α) : Prop :=
  table.places = #[] ∨ ∃ cell, table.places.back? = some (some cell)

/-! ## The end of a table -/

/-- What is taken off the end of a row are gaps, and what stays does not end in one. -/
theorem popWhile_isNone (places : Array (Option α)) :
    (∃ gaps, places.toList = (places.popWhile Option.isNone).toList ++ List.replicate gaps none) ∧
      (places.popWhile Option.isNone).back? ≠ some none := by
  obtain ⟨row⟩ := places
  rw [List.popWhile_toArray]
  have hsplit := List.takeWhile_append_dropWhile (p := Option.isNone) (l := row.reverse)
  constructor
  · refine ⟨(row.reverse.takeWhile Option.isNone).length, ?_⟩
    have hgaps : row.reverse.takeWhile Option.isNone =
        List.replicate (row.reverse.takeWhile Option.isNone).length none :=
      List.eq_replicate_of_mem fun place hplace =>
        Option.isNone_iff_eq_none.mp (List.mem_takeWhile_imp hplace)
    have hrow := congrArg List.reverse hsplit
    rw [List.reverse_append, List.reverse_reverse, hgaps, List.reverse_replicate] at hrow
    exact hrow.symm
  · intro hback
    simp only [List.back?_toArray, List.getLast?_reverse] at hback
    have hlast := List.head?_dropWhile_not Option.isNone row.reverse
    rw [hback] at hlast
    simp at hlast

theorem get?_remove (table : Table α) (offset other : Nat) :
    (table.remove offset).get? other = if other = offset then none else table.get? other := by
  obtain ⟨⟨gaps, hgaps⟩, -⟩ := popWhile_isNone (table.places.setIfInBounds offset none)
  have hkept : (table.remove offset).get? other =
      (table.places.setIfInBounds offset none)[other]?.join := by
    rw [get?, remove, ← Array.getElem?_toList, ← Array.getElem?_toList, hgaps,
      List.getElem?_append]
    split
    next => rfl
    next hbeyond =>
      rw [List.getElem?_eq_none (Nat.le_of_not_lt hbeyond), List.getElem?_replicate]
      split <;> rfl
  rw [hkept, Array.getElem?_setIfInBounds, get?]
  by_cases hsame : other = offset
  · rw [if_pos hsame, if_pos hsame.symm]
    split <;> rfl
  · rw [if_neg hsame, if_neg (Ne.symm hsame)]

theorem trimmed_of_back? {table : Table α} (hback : table.places.back? ≠ some none) :
    table.Trimmed := by
  cases hlast : table.places.back? with
  | none => exact .inl (Array.back?_eq_none_iff.mp hlast)
  | some last =>
      cases last with
      | none => exact absurd hlast hback
      | some cell => exact .inr ⟨cell, hlast⟩

theorem trimmed_remove (table : Table α) (offset : Nat) : (table.remove offset).Trimmed :=
  trimmed_of_back? (popWhile_isNone _).2

theorem trimmed_empty (kind : TableKind) : (empty kind : Table α).Trimmed := .inl rfl

theorem trimmed_iff {table : Table α} :
    table.Trimmed ↔ table.size = 0 ∨ (table.get? (table.size - 1)).isSome := by
  unfold Trimmed size get?
  rw [Array.size_eq_zero_iff, ← Array.back?_eq_getElem?]
  cases table.places.back? with
  | none => simp
  | some last => cases last <;> simp

theorem size_set (table : Table α) (offset : Nat) (cell : α) :
    (table.set offset cell).size = max table.size (offset + 1) := by
  unfold set
  split
  next hinside =>
    rw [size, Array.size_setIfInBounds]
    exact (Nat.max_eq_left hinside).symm
  next houtside =>
    rw [size, Array.size_push, Array.size_append, Array.size_replicate]
    simp only [size] at houtside ⊢
    omega

theorem trimmed_set {table : Table α} (htrimmed : table.Trimmed) (offset : Nat) (cell : α) :
    (table.set offset cell).Trimmed := by
  rw [trimmed_iff] at htrimmed ⊢
  right
  rw [get?_set, size_set]
  split
  next => rfl
  next hlast =>
    have hinside : max table.size (offset + 1) - 1 = table.size - 1 ∧ table.size ≠ 0 := by omega
    rw [hinside.1]
    exact htrimmed.resolve_left hinside.2

/-! ## A table and a map -/

/-- A table does not end in a gap, and it has the cells of a map at the same offsets. -/
structure Refines (table : Table α) (map : CellMap α) : Prop where
  trimmed : table.Trimmed
  cells : ∀ offset, table.get? offset = map.lookup offset

theorem refines_empty (kind : TableKind) : (empty kind : Table α).Refines ∅ :=
  ⟨trimmed_empty kind, fun offset => by rw [get?_eq_none_of_size_le (Nat.zero_le offset),
    Finmap.lookup_empty]⟩

namespace Refines

variable {table : Table α} {map : CellMap α}

/-- The offsets with a cell lie within the table, and the last of them is the last one of all. -/
theorem size_eq (hrefines : table.Refines map) : table.size = map.size := by
  apply Nat.le_antisymm
  · rcases trimmed_iff.mp hrefines.trimmed with hempty | hlast
    · rw [hempty]
      exact Nat.zero_le _
    · rw [hrefines.cells, Finmap.lookup_isSome, ← Finmap.mem_keys] at hlast
      have hle : Nat.succ (table.size - 1) ≤ map.size := Finset.le_sup hlast
      omega
  · refine Finset.sup_le fun offset hoffset =>
      Nat.succ_le_of_lt (Nat.lt_of_not_le fun hbeyond => ?_)
    rw [Finmap.mem_keys, ← Finmap.lookup_isSome, ← hrefines.cells,
      get?_eq_none_of_size_le hbeyond] at hoffset
    contradiction

theorem set (hrefines : table.Refines map) (offset : Nat) (cell : α) :
    (table.set offset cell).Refines (map.insert offset cell) where
  trimmed := trimmed_set hrefines.trimmed offset cell
  cells other := by
    rw [get?_set, hrefines.cells]
    split
    next hsame => rw [hsame, Finmap.lookup_insert]
    next hdiffers => rw [Finmap.lookup_insert_of_ne _ hdiffers]

theorem remove (hrefines : table.Refines map) (offset : Nat) :
    (table.remove offset).Refines (map.erase offset) where
  trimmed := trimmed_remove table offset
  cells other := by
    rw [get?_remove, hrefines.cells]
    split
    next hsame => rw [hsame, Finmap.lookup_erase]
    next hdiffers => rw [Finmap.lookup_erase_ne hdiffers]

/-- Every change has the same outcome on both sides and leaves them alike. -/
theorem changed (hrefines : table.Refines map) (change : TableChange α) :
    (table.changed change).1 = (map.changed change).1 ∧
      (table.changed change).2.Refines (map.changed change).2 := by
  cases change with
  | add cell =>
      have hset := hrefines.set table.size cell
      rw [← add_eq_set, hrefines.size_eq] at hset
      have hoffset : (table.add cell).size - 1 = map.size := by
        rw [add_eq_set, size_set, ← hrefines.size_eq]
        omega
      exact ⟨congrArg TableOutcome.added hoffset, hset⟩
  | set offset cell => exact ⟨rfl, hrefines.set offset cell⟩
  | remove offset =>
      exact ⟨congrArg TableOutcome.removed (hrefines.cells offset), hrefines.remove offset⟩

theorem changedAll (hrefines : table.Refines map) (changes : List (TableChange α)) :
    (table.changedAll changes).1 = (map.changedAll changes).1 ∧
      (table.changedAll changes).2.Refines (map.changedAll changes).2 := by
  induction changes generalizing table map with
  | nil => exact ⟨rfl, hrefines⟩
  | cons change changes ih =>
      obtain ⟨houtcome, hnext⟩ := hrefines.changed change
      obtain ⟨houtcomes, hlast⟩ := ih hnext
      exact ⟨List.cons_eq_cons.mpr ⟨houtcome, houtcomes⟩, hlast⟩

end Refines

theorem kind_changedAll (table : Table α) (changes : List (TableChange α)) :
    (table.changedAll changes).2.kind = table.kind := by
  induction changes generalizing table with
  | nil => rfl
  | cons change changes ih =>
      refine (ih (table.changed change).2).trans ?_
      cases change with
      | add cell => rfl
      | set offset cell =>
          rw [changed, set]
          split <;> rfl
      | remove offset => rfl

/-! ## Ranges -/

/-- A row of steps fails at one of them. -/
theorem exists_error_of_mapM {ε β : Type} {look : α → Except ε β} {places : List α} {error : ε}
    (herror : places.mapM look = .error error) : ∃ place ∈ places, look place = .error error := by
  induction places with
  | nil => cases herror
  | cons place places ih =>
      rw [List.mapM_cons] at herror
      cases hfirst : look place with
      | error other =>
          rw [hfirst] at herror
          obtain rfl : other = error := Except.error.inj herror
          exact ⟨place, List.mem_cons_self, hfirst⟩
      | ok value =>
          cases hrest : places.mapM look with
          | error other =>
              rw [hfirst, hrest] at herror
              obtain ⟨later, hlater, hfault⟩ := ih (hrest.trans herror)
              exact ⟨later, List.mem_cons_of_mem _ hlater, hfault⟩
          | ok values =>
              rw [hfirst, hrest] at herror
              cases herror

theorem get_eq (table : Table α) (offset : Nat) :
    table.get offset =
      match table.get? offset with
      | some cell => .ok cell
      | none => .error (.vacant table.kind offset) := by
  unfold get
  split <;> simp_all

theorem get_eq_error_iff {table : Table α} {offset : Nat} {fault : AddressFault} :
    table.get offset = .error fault ↔
      table.get? offset = none ∧ fault = .vacant table.kind offset := by
  rw [get_eq]
  cases table.get? offset <;> simp [eq_comm]

/-- A table answers as a map does.  An offset has a cell or is refused; so is a range, unless all of
its offsets have one, whether it goes beyond the table or beyond the last offset of all. -/
structure Answers (table : Table α) (map : CellMap α) : Prop where
  size : table.size = map.size
  get : ∀ offset, table.get offset =
    match map.lookup offset with
    | some cell => .ok cell
    | none => .error (.vacant table.kind offset)
  range : ∀ {offset count : Nat} {cells : List α}, 1 ≤ count →
    (table.range offset count = .ok cells ↔
      List.Forall₂ (fun place cell => map.lookup place = some cell)
        (List.range' offset count) cells)
  refused : ∀ {offset count gap : Nat}, gap ∈ List.range' offset count → map.lookup gap = none →
    table.range offset count =
        .error (.outside table.kind offset (rangeEnd offset count) table.size) ∨
      ∃ vacant ∈ List.range' offset count, map.lookup vacant = none ∧
        table.range offset count = .error (.vacant table.kind vacant)
  /-- The part of the table that a range reads is one, and it is as long as asked for. -/
  within : ∀ {offset count : Nat}, offset ≤ lastOffset → rangeEnd offset count ≤ table.size →
    offset ≤ rangeEnd offset count ∧
      (table.size < lastOffset → rangeEnd offset count = offset + count)

theorem Refines.answers {table : Table α} {map : CellMap α} (hrefines : table.Refines map) :
    table.Answers map where
  size := hrefines.size_eq
  get offset := by rw [get_eq, hrefines.cells]
  range {offset count cells} hcount := by
    rw [← toOption_eq_some_iff, toOption_range table offset hcount, mapM_eq_some_iff]
    simp only [hrefines.cells]
  refused {offset count gap} hgap hnone := by
    by_cases houtside : table.size < rangeEnd offset count
    · left
      rw [Table.range, if_pos houtside]
    · right
      cases hrange : table.range offset count with
      | ok cells =>
          have hcount : 1 ≤ count := by
            have hmem := List.mem_range'_1.mp hgap
            omega
          rw [← toOption_eq_some_iff, toOption_range table offset hcount,
            mapM_get?_eq_none hgap ((hrefines.cells gap).trans hnone)] at hrange
          contradiction
      | error fault =>
          have hread := hrange
          rw [Table.range, if_neg houtside] at hread
          obtain ⟨vacant, hvacant, hfault⟩ := exists_error_of_mapM hread
          obtain ⟨hmissing, rfl⟩ := get_eq_error_iff.mp hfault
          exact ⟨vacant, hvacant, (hrefines.cells vacant).symm.trans hmissing, rfl⟩
  within {offset count} hoffset hend := by
    unfold rangeEnd at hend ⊢
    omega

/-- Whatever is done to an empty table, the outcomes are those of a finite map to which the same is
done, and the table answers as that map in the end and does not end in a gap. -/
theorem changedAll_refines_map (kind : TableKind) (changes : List (TableChange α)) :
    let before : Table α := empty kind
    let map : CellMap α := ∅
    (before.changedAll changes).1 = (map.changedAll changes).1 ∧
      (before.changedAll changes).2.kind = kind ∧ (before.changedAll changes).2.Trimmed ∧
      (before.changedAll changes).2.Answers (map.changedAll changes).2 := by
  obtain ⟨houtcomes, hrefines⟩ := (refines_empty (α := α) kind).changedAll changes
  exact ⟨houtcomes, kind_changedAll _ changes, hrefines.trimmed, hrefines.answers⟩

end Table

end Modbus
