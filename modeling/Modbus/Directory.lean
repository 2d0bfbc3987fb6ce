/-!
# Directories

Values under numbers, kept in ascending order of the number.  A unit finds its
image, a file its records and a name its port in one of these.
-/

namespace Modbus

/-- Values under numbers, by ascending number. -/
structure Directory (α : Type) where
  entries : List (Nat × α)
  deriving DecidableEq, Repr

namespace Directory

variable {α β : Type}

instance : Inhabited (Directory α) := ⟨⟨[]⟩⟩

/-- The directory without entries. -/
def empty : Directory α := ⟨[]⟩

/-- The value of the first entry with a number. -/
def find? (number : Nat) : List (Nat × α) → Option α
  | [] => none
  | (other, held) :: rest => if number = other then some held else find? number rest

/-- The value under a number. -/
def get? (directory : Directory α) (number : Nat) : Option α :=
  find? number directory.entries

/-- Puts an entry in its place; an entry with the same number gives way. -/
def place (number : Nat) (value : α) : List (Nat × α) → List (Nat × α)
  | [] => [(number, value)]
  | (other, held) :: rest =>
    if number < other then (number, value) :: (other, held) :: rest
    else if number = other then (number, value) :: rest
    else (other, held) :: place number value rest

/-- Puts a value under a number, in place of the one that was there. -/
def insert (directory : Directory α) (number : Nat) (value : α) : Directory α :=
  ⟨place number value directory.entries⟩

/-- Removes the value under a number. -/
def erase (directory : Directory α) (number : Nat) : Directory α :=
  ⟨directory.entries.filter fun entry => entry.1 != number⟩

/-- The numbers in use, ascending. -/
def numbers (directory : Directory α) : List Nat :=
  directory.entries.map Prod.fst

/-- The values, by ascending number. -/
def values (directory : Directory α) : List α :=
  directory.entries.map Prod.snd

def map (change : α → β) (directory : Directory α) : Directory β :=
  ⟨directory.entries.map fun entry => (entry.1, change entry.2)⟩

/-- How many values there are. -/
def size (directory : Directory α) : Nat := directory.entries.length

theorem find?_place (entries : List (Nat × α)) (number other : Nat) (value : α) :
    find? other (place number value entries) =
      if other = number then some value else find? other entries := by
  induction entries with
  | nil => simp [place, find?]
  | cons entry rest ih =>
    obtain ⟨first, held⟩ := entry
    unfold place
    grind [find?]

/-- After an insertion a number leads to the new value or to what it led to before. -/
theorem get?_insert (directory : Directory α) (number other : Nat) (value : α) :
    (directory.insert number value).get? other =
      if other = number then some value else directory.get? other :=
  find?_place directory.entries number other value

theorem find?_filter_ne (entries : List (Nat × α)) (number other : Nat) :
    find? other (entries.filter fun entry => entry.1 != number) =
      if other = number then none else find? other entries := by
  induction entries with
  | nil => simp [find?]
  | cons entry rest ih =>
    obtain ⟨first, held⟩ := entry
    by_cases hfirst : first = number <;> grind [find?]

/-- After an erasure a number leads to what it led to before, except the erased one. -/
theorem get?_erase (directory : Directory α) (number other : Nat) :
    (directory.erase number).get? other =
      if other = number then none else directory.get? other :=
  find?_filter_ne directory.entries number other

/-- What is erased need not be put in first. -/
theorem erase_insert (directory : Directory α) (number : Nat) (value : α) :
    (directory.insert number value).erase number = directory.erase number := by
  have hentries (entries : List (Nat × α)) :
      (place number value entries).filter (fun entry => entry.1 != number) =
        entries.filter fun entry => entry.1 != number := by
    induction entries with
    | nil => simp [place]
    | cons entry rest ih =>
        unfold place
        split
        · simp
        · split <;> simp_all [List.filter_cons]
  exact congrArg Directory.mk (hentries directory.entries)

theorem find?_eq_none_iff (number : Nat) (entries : List (Nat × α)) :
    find? number entries = none ↔ ∀ entry ∈ entries, entry.1 ≠ number := by
  induction entries with
  | nil => simp [find?]
  | cons entry rest ih => grind [find?]

theorem erase_of_get?_eq_none {directory : Directory α} {number : Nat}
    (habsent : directory.get? number = none) : directory.erase number = directory :=
  congrArg Directory.mk (List.filter_eq_self.mpr fun entry hentry => by
    simpa using (find?_eq_none_iff number directory.entries).mp habsent entry hentry)

/-- Where no number leads anywhere there are no entries. -/
theorem eq_empty_of_get?_eq_none {directory : Directory α}
    (habsent : ∀ number, directory.get? number = none) : directory = empty :=
  congrArg Directory.mk (List.eq_nil_iff_forall_not_mem.mpr fun entry hentry =>
    (find?_eq_none_iff entry.1 directory.entries).mp (habsent entry.1) entry hentry rfl)

end Directory

end Modbus
