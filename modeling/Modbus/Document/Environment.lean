import Modbus.Bound
import Modbus.Document
import Modbus.Text.Blank
import Modbus.Text.Natural
import Modbus.Text.Shortest
import Modbus.Text.Split

/-!
# Documents from environment variables

Variables whose names begin with a common prefix make up a record.  Two
underscores in a name lead into a record below, and capital letters are as good
as small ones.  A value that reads as a truth value, a number, a record or a
list is one; every other value is a text.
-/

namespace Modbus.Document.Environment

/-! ## Values -/

/-- White space of ASCII. -/
def isBlank (character : Char) : Bool :=
  [0x09, 0x0A, 0x0C, 0x0D, 0x20].contains character.toNat

/-- Whether a character ends a value without quotes. -/
def isSeparator (character : Char) : Bool := [',', '{', '}', '[', ']'].contains character

/-- Whether a character may stand in a key without quotes. -/
def isKeyCharacter (character : Char) : Bool :=
  character.isAlphanum || character == '_' || character == '-'

/-- Whether a character must not stand between quotes. -/
def isControl (character : Char) : Bool :=
  (character.toNat < 0x20 && character != '\t') || character.toNat = 0x7F

/-- The characters that a backslash and one letter stand for. -/
def escapes : List (Char × Nat) :=
  [('b', 8), ('t', 9), ('n', 10), ('f', 12), ('r', 13), ('"', 0x22), ('\\', 0x5C)]

/-- The character with a code of so many hexadecimal digits, and what follows them. -/
def coded (count : Nat) (rest : List Char) : Option (Char × List Char) := do
  let digits ← (rest.take count).mapM (Text.Natural.digit? 16)
  let code := digits.foldl (fun code digit => code * 16 + digit) 0
  let isScalar := code < 0xD800 || (0xE000 ≤ code && code < 0x110000)
  if digits.length = count && isScalar then some (Char.ofNat code, rest.drop count) else none

/-- A text behind its opening quote, and what follows the closing one; `fuel` bounds its
length. -/
def quoted : Nat → List Char → Option (List Char × List Char)
  | 0, _ => none
  | fuel + 1, source =>
    match source with
    | [] => none
    | '"' :: rest => some ([], rest)
    | '\\' :: mark :: rest => do
      let (character, rest) ←
        match mark with
        | 'u' => coded 4 rest
        | 'U' => coded 8 rest
        | mark => (escapes.lookup mark).map fun code => (Char.ofNat code, rest)
      let (characters, rest) ← quoted fuel rest
      some (character :: characters, rest)
    | character :: rest =>
      if isControl character then none
      else do
        let (characters, rest) ← quoted fuel rest
        some (character :: characters, rest)

/-- The text in quotes at the front, and what follows it. -/
def string? : List Char → Option (String × List Char)
  | '"' :: rest =>
    (quoted (rest.length + 1) rest).map fun (characters, rest) => (String.ofList characters, rest)
  | _ => none

/-- What a value without quotes stands for. -/
def ofBare (characters : List Char) : Document :=
  let bare := Text.Split.trim Text.isBlank characters
  match (Text.Decimal.parse? bare).filter fun _ => bare.contains '.', bare with
  | some number, _ => real (Text.Shortest.text number)
  | none, '-' :: digits =>
    match Text.Natural.parse? 10 Bound.negative64 digits with
    | some value =>
      if digits.head? = some '+' then text (String.ofList bare) else integer (-(value : Int))
    | none => text (String.ofList bare)
  | none, digits =>
    match Text.Natural.parse? 10 Bound.most64 digits with
    | some value => integer value
    | none => text (String.ofList bare)

/-- The key at the front of an entry, and what follows its equals sign. -/
def key? (source : List Char) : Option (String × List Char) := do
  let source := source.dropWhile isBlank
  let (key, rest) ←
    match string? source with
    | some found => some found
    | none =>
      let name := source.takeWhile isKeyCharacter
      if name.isEmpty then none else some (String.ofList name, source.drop name.length)
  match rest.dropWhile isBlank with
  | '=' :: rest => some (key, rest)
  | _ => none

/-- An entry of a record with one key more; an earlier one with the same key goes. -/
def put (entries : List (String × Document)) (key : String) (value : Document) :
    List (String × Document) :=
  entries.filter (fun entry => entry.1 != key) ++ [(key, value)]

mutual

/-- A value at the front of a text, and what follows it; `fuel` bounds the number of parts. -/
def value : Nat → List Char → Option (Document × List Char)
  | 0, _ => none
  | fuel + 1, source => do
    let source := source.dropWhile isBlank
    let (found, rest) ←
      match Text.Split.behind? "true".toList source, Text.Split.behind? "false".toList source with
      | some rest, _ => some (bool true, rest)
      | none, some rest => some (bool false, rest)
      | none, none =>
        match source with
        | '{' :: rest =>
          (entries fuel [] rest).map fun (entries, rest) => (ofFields entries, rest)
        | '[' :: rest => (items fuel rest).map fun (items, rest) => (list items, rest)
        | '"' :: _ => (string? source).map fun (found, rest) => (text found, rest)
        | '\'' :: character :: '\'' :: rest => some (text (String.singleton character), rest)
        | '\'' :: _ => none
        | source =>
          let bare := source.takeWhile fun character => !isSeparator character
          some (ofBare bare, source.drop bare.length)
    some (found, rest.dropWhile isBlank)

/-- The items of a list up to its closing bracket. -/
def items : Nat → List Char → Option (List Document × List Char)
  | 0, _ => none
  | fuel + 1, source =>
    match source with
    | ']' :: rest => some ([], rest)
    | source => do
      let (item, rest) ← value fuel source
      match rest with
      | ',' :: rest =>
        let (found, rest) ← items fuel rest
        some (item :: found, rest)
      | ']' :: rest => some ([item], rest)
      | _ => none

/-- The entries of a record up to its closing brace. -/
def entries :
    Nat → List (String × Document) → List Char → Option (List (String × Document) × List Char)
  | 0, _, _ => none
  | fuel + 1, found, source =>
    match source with
    | '}' :: rest => some (found, rest)
    | source => do
      let (key, rest) ← key? source
      let (held, rest) ← value fuel rest
      match rest with
      | ',' :: rest => entries fuel (put found key held) rest
      | '}' :: rest => some (put found key held, rest)
      | _ => none

end

/-- The value of a variable.  If it does not read to its end as something else, it is a text
as it stands. -/
def ofValue (source : String) : Document :=
  match value (2 * source.length + 2) source.toList with
  | some (found, []) => found
  | _ => text source

/-! ## Names -/

/-- The path that a name stands for behind the prefix, whatever white space is around either;
no path if the name does not begin with the prefix or if a part is empty. -/
def path? (start : String) (name : String) : Option (List String) := do
  let name := Text.Split.trim Text.isBlank name.toList
  let lower := name.map Char.toLower
  let rest ← Text.Split.behind? (start.toList.map Char.toLower) lower
  let dotted := ".".intercalate ((String.ofList rest).splitOn "__")
  let parts := (String.ofList (Text.Split.trim Text.isBlank dotted.toList)).splitOn "."
  if parts.any String.isEmpty then none else some parts

/-- A document that holds a value at the end of a path. -/
def nest : List String → Document → Document
  | [], value => value
  | part :: path, value => ofFields [(part, nest path value)]

/-- The document of the variables whose names begin with `start`; later variables are laid
over earlier ones. -/
def document (start : String) (settings : List (String × String)) : Document :=
  settings.foldl (fun found (name, value) =>
    match path? start name with
    | some path => overlay found (nest path (ofValue value))
    | none => found) (record [])

end Modbus.Document.Environment
