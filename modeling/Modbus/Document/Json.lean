import Modbus.Bound
import Modbus.Document
import Modbus.Text.Natural
import Modbus.Text.Shortest

/-!
# JSON

Reading a document in JSON, strictly: one value with nothing but blanks around
it.  A string may name half of a surrogate pair; it then stands for no text, and
only who needs the text minds.
-/

namespace Modbus.Document.Json

abbrev Scan := StateT (List Char) Option

/-- The blanks between the parts of a value. -/
def isBlank (character : Char) : Bool :=
  character == ' ' || character == '\t' || character == '\n' || character == '\r'

/-- Skips blanks. -/
def blanks : Scan Unit := modify (·.dropWhile isBlank)

def next : Scan Char := fun text =>
  match text with
  | character :: rest => some (character, rest)
  | [] => none

/-- Exactly the given characters. -/
def expect : List Char → Scan Unit
  | [] => pure ()
  | character :: rest => do
    guard ((← next) = character)
    expect rest

/-! ## Strings -/

/-- A character of a string, or the 16-bit unit that an escape names. -/
inductive Piece where
  | character (value : Char)
  | unit (value : Nat)

/-- The value of an escape of four hexadecimal digits. -/
def unit : Scan Nat := do
  let mut value := 0
  for _ in [0, 1, 2, 3] do
    let digit ← (Text.Natural.digit? 16 (← next) : Option Nat)
    value := value * 16 + digit
  pure value

/-- What follows a backslash. -/
def escape : Scan Piece := do
  match ← next with
  | '"' => pure (.character '"')
  | '\\' => pure (.character '\\')
  | '/' => pure (.character '/')
  | 'b' => pure (.character (Char.ofNat 8))
  | 'f' => pure (.character (Char.ofNat 12))
  | 'n' => pure (.character '\n')
  | 'r' => pure (.character '\r')
  | 't' => pure (.character '\t')
  | 'u' => pure (.unit (← unit))
  | _ => failure

/-- The pieces of a string up to its closing quote; `fuel` bounds their number. -/
def pieces : Nat → Scan (List Piece)
  | 0 => failure
  | fuel + 1 => do
    match ← next with
    | '"' => pure []
    | '\\' => do
      let piece ← escape
      pure (piece :: (← pieces fuel))
    | character => do
      guard (0x20 ≤ character.toNat)
      pure (.character character :: (← pieces fuel))

/-- The text that pieces stand for.  Two units may be one character together. -/
def assemble : List Piece → Option (List Char)
  | [] => some []
  | .character value :: rest => (assemble rest).map (value :: ·)
  | .unit high :: .unit low :: rest =>
    if 0xD800 ≤ high ∧ high < 0xDC00 ∧ 0xDC00 ≤ low ∧ low < 0xE000 then
      (assemble rest).map (Char.ofNat (0x10000 + (high - 0xD800) * 0x400 + (low - 0xDC00)) :: ·)
    else if 0xD800 ≤ high ∧ high < 0xE000 then none
    else (assemble (.unit low :: rest)).map (Char.ofNat high :: ·)
  | .unit value :: rest =>
    if 0xD800 ≤ value ∧ value < 0xE000 then none
    else (assemble rest).map (Char.ofNat value :: ·)

/-- A string behind its opening quote. -/
def string : Scan Document := do
  let pieces ← pieces ((← get).length + 1)
  match assemble pieces with
  | some characters => pure (text (String.ofList characters))
  | none => pure damaged

/-! ## Numbers -/

/-- At least one decimal digit. -/
def digits : Scan (List Char) := do
  let digits := (← get).takeWhile Char.isDigit
  guard (!digits.isEmpty)
  modify (·.drop digits.length)
  pure digits

/-- Skips the fraction and the exponent of a number; the result is whether there was either. -/
def fraction : Scan Bool := do
  let mut found := false
  if (← get).head? = some '.' then
    let _ ← next
    let _ ← digits
    found := true
  if (← get).head? = some 'e' ∨ (← get).head? = some 'E' then
    let _ ← next
    if (← get).head? = some '+' ∨ (← get).head? = some '-' then
      let _ ← next
    let _ ← digits
    found := true
  pure found

/-- A number that is no integer of 64 bits, as it is shown. -/
def realOf (characters : List Char) : Document :=
  real (((Text.Decimal.parse? characters).map Text.Shortest.text).getD "")

/-- The number with the given characters, if they are digits behind a sign; zero has no sign,
and integers have 64 bits. -/
def integer? (characters : List Char) : Option Document :=
  match characters with
  | '-' :: digits => do
    let value ← Text.Natural.parse? 10 Bound.negative64 digits
    if value = 0 then none else some (integer (-value))
  | digits => (Text.Natural.parse? 10 Bound.most64 digits).map fun value => integer value

def number : Scan Document := do
  let source ← get
  if source.head? = some '-' then
    let _ ← next
  let digits ← digits
  guard (digits.head? ≠ some '0' ∨ digits.length = 1)
  let isReal ← fraction
  let characters := source.take (source.length - (← get).length)
  match isReal, integer? characters with
  | false, some found => pure found
  | _, _ => pure (realOf characters)

/-! ## Values -/

mutual

/-- A value; `fuel` bounds the depth and the number of its parts. -/
def value : Nat → Scan Document
  | 0 => failure
  | fuel + 1 => do
    blanks
    match (← get).head? with
    | some 'n' => expect "null".toList; pure null
    | some 't' => expect "true".toList; pure (bool true)
    | some 'f' => expect "false".toList; pure (bool false)
    | some '"' => let _ ← next; string
    | some '[' => do
      let _ ← next
      blanks
      if (← get).head? = some ']' then
        let _ ← next
        pure (list [])
      else
        pure (list (← items fuel))
    | some '{' => do
      let _ ← next
      blanks
      if (← get).head? = some '}' then
        let _ ← next
        pure (record [])
      else
        pure (record (← entries fuel))
    | _ => number

/-- The items of a list up to its closing bracket. -/
def items : Nat → Scan (List Document)
  | 0 => failure
  | fuel + 1 => do
    let item ← value fuel
    blanks
    match ← next with
    | ',' => pure (item :: (← items fuel))
    | ']' => pure [item]
    | _ => failure

/-- The entries of a record up to its closing brace. -/
def entries : Nat → Scan (List (Document × Document))
  | 0 => failure
  | fuel + 1 => do
    blanks
    expect ['"']
    let key ← string
    blanks
    expect [':']
    let held ← value fuel
    blanks
    match ← next with
    | ',' => pure ((key, held) :: (← entries fuel))
    | '}' => pure [(key, held)]
    | _ => failure

end

def parse (source : String) : Option Document := do
  let characters := source.toList
  let (document, rest) ← value (characters.length + 1) characters
  guard (rest.all isBlank)
  pure document

end Modbus.Document.Json
