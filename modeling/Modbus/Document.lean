import Modbus.Bound
import Modbus.Text.Quoted

/-!
# Documents

A document is a value that settings are read from and written to, whatever the
notation.  Entries of a record keep their order, and a key may be anything, so
that a reader can refuse a key that is no text or that occurs twice.  A reader
that refuses a document says where in it, and why.
-/

namespace Modbus

/-- A value of some notation. -/
inductive Document where
  | null
  | bool (value : Bool)
  | integer (value : Int)
  /-- A number that is no integer, as it is shown; no setting is one. -/
  | real (shown : String)
  | text (value : String)
  /-- A string that stands for no text. -/
  | damaged
  | list (items : List Document)
  | record (entries : List (Document × Document))
  deriving Repr, Inhabited

namespace Document

def ofFields (fields : List (String × Document)) : Document :=
  record (fields.map fun (name, value) => (text name, value))

def text? : Document → Option String
  | text value => some value
  | _ => none

/-! ## Faults -/

/-- Why a document is not what is asked for. -/
inductive Mismatch where
  /-- It is of another kind. -/
  | kind (found : Document) (expected : String)
  /-- It is a number out of range. -/
  | range (found : Document) (expected : String)
  /-- It names none of the choices. -/
  | choice (name : String) (choices : List String)
  | repeated (field : String)
  /-- It has more items than fields are asked for. -/
  | surplus (items : Nat) (expected : String)
  /-- A key is no text. -/
  | key
  deriving Repr, Inhabited

/-- Why a document is refused, and where: the keys and places that lead to what is refused. -/
structure Fault where
  path : List String
  mismatch : Mismatch
  deriving Repr, Inhabited

namespace Fault

def here (mismatch : Mismatch) : Fault := ⟨[], mismatch⟩

/-- A fault as it is seen from a document around it. -/
def under (name : String) (fault : Fault) : Fault := { fault with path := name :: fault.path }

end Fault

/-- Whether a whole number takes more than 64 bits. -/
def isWide (value : Int) : Bool := value < -Bound.negative64 || (Bound.most64 : Int) < value

/-- A whole number in words; one that takes more than 64 bits is of another kind. -/
def integerInWords (value : Int) : String :=
  let shown := "\x60" ++ toString value ++ "\x60"
  match isWide value, decide (0 ≤ value) with
  | false, true => "unsigned int " ++ shown
  | false, false => "signed int " ++ shown
  | true, true => "integer " ++ shown ++ " as u128"
  | true, false => "integer " ++ shown ++ " as i128"

def inWords : Document → String
  | null => "unit"
  | bool value => "bool " ++ (if value then "true" else "false")
  | integer value => integerInWords value
  | real shown => "float \x60" ++ shown ++ "\x60"
  | text value => "string " ++ Text.Quoted.encode value
  | damaged => "string"
  | list _ => "sequence"
  | record _ => "map"

def choicesInWords (choices : List String) : String :=
  match choices.map fun name => "\x60" ++ name ++ "\x60" with
  | [] => "none"
  | [one] => one
  | [one, other] => one ++ " or " ++ other
  | names => "one of " ++ ", ".intercalate names

def Mismatch.message : Mismatch → String
  | kind found expected => "invalid type: found " ++ found.inWords ++ ", expected " ++ expected
  | range found expected => "invalid value " ++ found.inWords ++ ", expected " ++ expected
  | choice name choices =>
    "unknown variant: found \x60" ++ name ++ "\x60, expected \x60" ++ choicesInWords choices
      ++ "\x60"
  | repeated field => "duplicate field \x60" ++ field ++ "\x60"
  | surplus items expected => "invalid length " ++ toString items ++ ", expected " ++ expected
  | key => "invalid type: found a key that is no string"

/-! ## Values -/

abbrev Reader (α : Type) := Document → Except Fault α

def refuse {α : Type} (expected : String) (document : Document) : Except Fault α :=
  .error (.here (.kind document expected))

def asText : Reader String
  | text value => .ok value
  | document => document.refuse "a string"

def asBool : Reader Bool
  | bool value => .ok value
  | document => document.refuse "a boolean"

/-- Reads a number that is not negative and at most `most`; `expected` says what it is. -/
def asNatural (expected : String) (most : Nat) : Reader Nat
  | integer value =>
    if 0 ≤ value && value ≤ most then .ok value.toNat
    else if isWide value then (integer value).refuse expected
    else .error (.here (.range (integer value) expected))
  | document => document.refuse expected

/-- Reads a value that may be left out by giving `null`. -/
def asOptional {α : Type} (read : Reader α) : Reader (Option α)
  | null => .ok none
  | document => (read document).map some

/-- Reads one of several named values. -/
def named {α : Type} (choices : List (String × α)) (name : String) : Except Fault α :=
  match choices.lookup name with
  | some value => .ok value
  | none => .error (.here (.choice name (choices.map Prod.fst)))

/-- Reads one of several named values.  A name may also be the key of a record that gives it
nothing; what follows in the record does not matter unless `strict` is set. -/
def asChoice {α : Type} (strict : Bool) (expected : String) (choices : List (String × α)) :
    Reader α
  | text name => named choices name
  | record ((text name, value) :: rest) => do
    let chosen ← named choices name
    match value, strict && !rest.isEmpty with
    | null, false => .ok chosen
    | value, _ => (value.refuse "unit").mapError (Fault.under name)
  | record entries => (record entries).refuse "enum"
  | document => document.refuse expected

/-! ## Structures -/

/-- A field of a structure: its name, and how its value changes the structure. -/
structure Field (σ : Type) where
  name : String
  set : Document → σ → Except Fault σ

/-- A field with a value of its own. -/
def field {σ α : Type} (name : String) (read : Reader α) (put : σ → α → σ) : Field σ :=
  ⟨name, fun document whole => (read document).map (put whole)⟩

def Field.setAt {σ : Type} (field : Field σ) (place : String) (document : Document) (whole : σ) :
    Except Fault σ :=
  (field.set document whole).mapError (Fault.under place)

/-- Sets the fields that the entries of a record name, one after another.  Other entries do
not matter, but every key has to be a text; if `strict` is set, no field may occur twice. -/
def setEntries {σ : Type} (strict : Bool) (fields : List (Field σ)) (seen : List String) :
    List (Document × Document) → σ → Except Fault σ
  | [], whole => .ok whole
  | (text name, value) :: rest, whole =>
    match fields.find? fun field => field.name == name with
    | some field =>
      if strict && seen.contains name then .error (.here (.repeated name))
      else do setEntries strict fields (name :: seen) rest (← field.setAt name value whole)
    | none => setEntries strict fields seen rest whole
  | _ :: _, _ => .error (.here .key)

/-- Sets fields to the items of a list, in order; `place` is the place of the first item. -/
def setItems {σ : Type} (place : Nat) :
    List (Field σ) → List Document → σ → Except Fault σ
  | field :: fields, item :: items, whole => do
    setItems (place + 1) fields items (← field.setAt (toString place) item whole)
  | _, _, whole => .ok whole

/-- Reads a structure.  A record names its fields; a list gives them in order and may be too
short, and too long unless `strict` is set.  What is not given stays as in `default`. -/
def asStructure {σ : Type} (strict : Bool) (expected : String) (fields : List (Field σ))
    (default : σ) : Reader σ
  | record entries => setEntries strict fields [] entries default
  | list items =>
    if strict && fields.length < items.length then
      .error (.here (.surplus items.length expected))
    else
      setItems 0 fields items default
  | document => document.refuse expected

/-! ## Layers -/

mutual

/-- A document with another one laid over it: records are laid over each other field by
field, and of anything else the upper one is taken. -/
def overlay (lower : Document) : Document → Document
  | record entries =>
    match lower with
    | record below => record (overlayEntries below entries)
    | _ => record entries
  | document => document

/-- Lays the entries of a record over those of another. -/
def overlayEntries (below : List (Document × Document)) :
    List (Document × Document) → List (Document × Document)
  | [] => below
  | (key, value) :: rest => overlayEntries (overlayEntry below key value) rest

/-- Lays one entry over those of a record. -/
def overlayEntry (below : List (Document × Document)) (key value : Document) :
    List (Document × Document) :=
  match key with
  | text name =>
    let laid := (below.find? fun entry => entry.1.text? == some name).map fun entry =>
      overlay entry.2 value
    match laid with
    | some laid => below.map fun entry =>
        if entry.1.text? == some name then (entry.1, laid) else entry
    | none => below ++ [(key, value)]
  | _ => below ++ [(key, value)]

end

/-- The entries of a record in the order of their keys. -/
def sortEntries (entries : List (Document × Document)) : List (Document × Document) :=
  entries.mergeSort fun one other => decide ((one.1.text?.getD "") ≤ (other.1.text?.getD ""))

mutual

/-- A document in which the entries of every record are in the order of their keys. -/
def sorted : Document → Document
  | list items => list (sortedItems items)
  | record entries => record (sortEntries (sortedEntries entries))
  | document => document

def sortedItems : List Document → List Document
  | [] => []
  | item :: rest => sorted item :: sortedItems rest

/-- The entries of a record, sorted inside. -/
def sortedEntries : List (Document × Document) → List (Document × Document)
  | [] => []
  | (key, value) :: rest => (key, sorted value) :: sortedEntries rest

end

/-- The part of a document that a path of keys and places leads to. -/
def at? : Document → List String → Option Document
  | document, [] => some document
  | record entries, name :: path => do
    let entry ← entries.find? fun entry => entry.1.text? == some name
    at? entry.2 path
  | list items, place :: path => do
    let item ← items[← place.toNat?]?
    at? item path
  | _, _ => none

end Document

end Modbus
